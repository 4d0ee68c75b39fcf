/-!
# Names of pictures: objects

## Main definitions

* `Pictograph.objects` — things, food, plants, places and activities, with their names.
-/

namespace SwitchTrace.Pictograph

/-- One picture for each text: the numbers of its characters in hexadecimal, and its names. -/
def objects : List String :=
  ["1F004 mahjong mahjong_red_dragon", "1F0CF black_joker joker", "1F300 cyclone", "1F301 foggy",
  "1F302 closed_umbrella", "1F303 night_with_stars", "1F304 sunrise_over_mountains",
  "1F305 sunrise", "1F306 city_sunset cityscape_at_dusk", "1F307 city_sunrise sunset",
  "1F308 rainbow", "1F309 bridge_at_night", "1F30A ocean water_wave", "1F30B volcano",
  "1F30C milky_way", "1F30D earth_africa globe_showing_europe-africa",
  "1F30E earth_americas globe_showing_americas", "1F30F earth_asia globe_showing_asia-australia",
  "1F310 globe_with_meridians", "1F311 new_moon", "1F312 waxing_crescent_moon",
  "1F313 first_quarter_moon", "1F314 moon waxing_gibbous_moon", "1F315 full_moon",
  "1F316 waning_gibbous_moon", "1F317 last_quarter_moon", "1F318 waning_crescent_moon",
  "1F319 crescent_moon", "1F31A new_moon_face new_moon_with_face",
  "1F31B first_quarter_moon_face first_quarter_moon_with_face",
  "1F31C last_quarter_moon_face last_quarter_moon_with_face",
  "1F31D full_moon_face full_moon_with_face", "1F31E sun_with_face", "1F31F glowing_star star2",
  "1F320 shooting_star stars", "1F321 thermometer",
  "1F324 sun_behind_small_cloud white_sun_with_small_cloud",
  "1F325 sun_behind_large_cloud white_sun_behind_cloud",
  "1F326 sun_behind_rain_cloud white_sun_behind_cloud_with_rain", "1F327 cloud_with_rain",
  "1F328 cloud_with_snow", "1F329 cloud_with_lightning", "1F32A cloud_with_tornado tornado",
  "1F32B fog", "1F32C wind_blowing_face wind_face", "1F32D hot_dog", "1F32E taco", "1F32F burrito",
  "1F330 chestnut", "1F331 seedling", "1F332 evergreen_tree", "1F333 deciduous_tree",
  "1F334 palm_tree", "1F335 cactus", "1F336 hot_pepper", "1F337 tulip", "1F338 cherry_blossom",
  "1F339 rose", "1F33A hibiscus", "1F33B sunflower", "1F33C blossom", "1F33D corn ear_of_corn",
  "1F33E ear_of_rice sheaf_of_rice", "1F33F herb", "1F340 four_leaf_clover", "1F341 maple_leaf",
  "1F342 fallen_leaf", "1F343 leaf_fluttering_in_wind leaves", "1F344 mushroom", "1F345 tomato",
  "1F346 eggplant", "1F347 grapes", "1F348 melon", "1F349 watermelon", "1F34A tangerine",
  "1F34B lemon", "1F34C banana", "1F34D pineapple", "1F34E apple red_apple", "1F34F green_apple",
  "1F350 pear", "1F351 peach", "1F352 cherries", "1F353 strawberry", "1F354 hamburger",
  "1F355 pizza", "1F356 meat_on_bone", "1F357 poultry_leg", "1F358 rice_cracker", "1F359 rice_ball",
  "1F35A cooked_rice rice", "1F35B curry curry_rice", "1F35C ramen steaming_bowl",
  "1F35D spaghetti", "1F35E bread", "1F35F french_fries fries",
  "1F360 roasted_sweet_potato sweet_potato", "1F361 dango", "1F362 oden", "1F363 sushi",
  "1F364 fried_shrimp", "1F365 fish_cake fish_cake_with_swirl", "1F366 icecream soft_ice_cream",
  "1F367 shaved_ice", "1F368 ice_cream", "1F369 doughnut", "1F36A cookie", "1F36B chocolate_bar",
  "1F36C candy", "1F36D lollipop", "1F36E custard", "1F36F honey_pot", "1F370 cake shortcake",
  "1F371 bento bento_box", "1F372 pot_of_food stew", "1F373 cooking egg", "1F374 fork_and_knife",
  "1F375 tea teacup_without_handle", "1F376 sake", "1F377 wine_glass",
  "1F378 cocktail cocktail_glass", "1F379 tropical_drink", "1F37A beer beer_mug",
  "1F37B beers clinking_beer_mugs", "1F37C baby_bottle", "1F37D fork_and_knife_with_plate",
  "1F37E bottle_with_popping_cork", "1F37F popcorn", "1F380 ribbon", "1F381 gift wrapped_gift",
  "1F382 birthday birthday_cake", "1F383 jack-o-lantern jack_o_lantern", "1F384 christmas_tree",
  "1F385 santa santa_claus", "1F386 fireworks", "1F387 sparkler", "1F388 balloon",
  "1F389 party_popper tada", "1F38A confetti_ball", "1F38B tanabata_tree", "1F38C crossed_flags",
  "1F38D bamboo pine_decoration", "1F38E dolls japanese_dolls", "1F38F carp_streamer flags",
  "1F390 wind_chime", "1F391 moon_viewing_ceremony rice_scene",
  "1F392 school_backpack school_satchel", "1F393 graduation_cap mortar_board",
  "1F396 military_medal", "1F397 reminder_ribbon", "1F399 studio_microphone", "1F39A level_slider",
  "1F39B control_knobs", "1F39E film_frames", "1F39F admission_tickets", "1F3A0 carousel_horse",
  "1F3A1 ferris_wheel", "1F3A2 roller_coaster", "1F3A3 fishing_pole fishing_pole_and_fish",
  "1F3A4 microphone", "1F3A5 movie_camera", "1F3A6 cinema", "1F3A7 headphone headphones",
  "1F3A8 art artist_palette", "1F3A9 top_hat tophat", "1F3AA circus_tent", "1F3AB ticket",
  "1F3AC clapper clapper_board", "1F3AD performing_arts", "1F3AE video_game",
  "1F3AF dart direct_hit", "1F3B0 slot_machine", "1F3B1 8ball pool_8_ball", "1F3B2 game_die",
  "1F3B3 bowling", "1F3B4 flower_playing_cards", "1F3B5 musical_note", "1F3B6 musical_notes notes",
  "1F3B7 saxophone", "1F3B8 guitar", "1F3B9 musical_keyboard", "1F3BA trumpet", "1F3BB violin",
  "1F3BC musical_score", "1F3BD running_shirt running_shirt_with_sash", "1F3BE tennis",
  "1F3BF ski skis", "1F3C0 basketball", "1F3C1 checkered_flag chequered_flag", "1F3C2 snowboarder",
  "1F3C3 person_running runner running", "1F3C4 person_surfing surfer", "1F3C5 sports_medal",
  "1F3C6 trophy", "1F3C7 horse_racing", "1F3C8 american_football football", "1F3C9 rugby_football",
  "1F3CA person_swimming swimmer", "1F3CB person_lifting_weights weight_lifter",
  "1F3CC golfer person_golfing", "1F3CD motorcycle racing_motorcycle", "1F3CE racing_car",
  "1F3CF cricket_bat_and_ball cricket_game", "1F3D0 volleyball",
  "1F3D1 field_hockey field_hockey_stick_and_ball", "1F3D2 ice_hockey ice_hockey_stick_and_puck",
  "1F3D3 ping_pong table_tennis_paddle_and_ball", "1F3D4 snow-capped_mountain snow_capped_mountain",
  "1F3D5 camping", "1F3D6 beach_with_umbrella", "1F3D7 building_construction",
  "1F3D8 house_buildings houses", "1F3D9 cityscape", "1F3DA derelict_house derelict_house_building",
  "1F3DB classical_building", "1F3DC desert", "1F3DD desert_island", "1F3DE national_park",
  "1F3DF stadium", "1F3E0 house", "1F3E1 house_with_garden", "1F3E2 office office_building",
  "1F3E3 japanese_post_office post_office", "1F3E4 european_post_office", "1F3E5 hospital",
  "1F3E6 bank", "1F3E7 atm atm_sign", "1F3E8 hotel", "1F3E9 love_hotel", "1F3EA convenience_store",
  "1F3EB school", "1F3EC department_store", "1F3ED factory",
  "1F3EE izakaya_lantern lantern red_paper_lantern", "1F3EF japanese_castle",
  "1F3F0 castle european_castle", "1F3F3 waving_white_flag white_flag",
  "1F3F4 black_flag waving_black_flag", "1F3F5 rosette", "1F3F7 label",
  "1F3F8 badminton badminton_racquet_and_shuttlecock", "1F3F9 bow_and_arrow", "1F3FA amphora",
  "1F3FB emoji_modifier_fitzpatrick_type__1__2 light_skin_tone",
  "1F3FC emoji_modifier_fitzpatrick_type__3 medium_light_skin_tone",
  "1F3FD emoji_modifier_fitzpatrick_type__4 medium_skin_tone",
  "1F3FE emoji_modifier_fitzpatrick_type__5 medium_dark_skin_tone",
  "1F3FF dark_skin_tone emoji_modifier_fitzpatrick_type__6",
  "1F4A0 diamond_shape_with_a_dot_inside diamond_with_a_dot", "1F4A1 bulb light_bulb",
  "1F4A2 anger anger_symbol", "1F4A3 bomb", "1F4A4 zzz", "1F4A5 boom collision",
  "1F4A6 sweat_droplets sweat_drops", "1F4A7 droplet", "1F4A8 dash dashing_away",
  "1F4A9 hankey pile_of_poo poop shit", "1F4AA flexed_biceps muscle", "1F4AB dizzy",
  "1F4AC speech_balloon", "1F4AD thought_balloon", "1F4AE white_flower", "1F4AF 100 hundred_points",
  "1F4B0 money_bag moneybag", "1F4B1 currency_exchange", "1F4B2 heavy_dollar_sign",
  "1F4B3 credit_card", "1F4B4 yen yen_banknote", "1F4B5 dollar dollar_banknote",
  "1F4B6 euro euro_banknote", "1F4B7 pound pound_banknote", "1F4B8 money_with_wings",
  "1F4B9 chart chart_increasing_with_yen", "1F4BA seat", "1F4BB computer laptop_computer",
  "1F4BC briefcase", "1F4BD computer_disk minidisc", "1F4BE floppy_disk", "1F4BF cd optical_disk",
  "1F4C0 dvd", "1F4C1 file_folder", "1F4C2 open_file_folder", "1F4C3 page_with_curl",
  "1F4C4 page_facing_up", "1F4C5 date", "1F4C6 calendar tear-off_calendar", "1F4C7 card_index",
  "1F4C8 chart_increasing chart_with_upwards_trend",
  "1F4C9 chart_decreasing chart_with_downwards_trend", "1F4CA bar_chart", "1F4CB clipboard",
  "1F4CC pushpin", "1F4CD round_pushpin", "1F4CE paperclip", "1F4CF straight_ruler",
  "1F4D0 triangular_ruler", "1F4D1 bookmark_tabs", "1F4D2 ledger", "1F4D3 notebook",
  "1F4D4 notebook_with_decorative_cover", "1F4D5 closed_book", "1F4D6 book open_book",
  "1F4D7 green_book", "1F4D8 blue_book", "1F4D9 orange_book", "1F4DA books", "1F4DB name_badge",
  "1F4DC scroll", "1F4DD memo pencil", "1F4DE telephone_receiver", "1F4DF pager",
  "1F4E0 fax fax_machine", "1F4E1 satellite satellite_antenna", "1F4E2 loudspeaker",
  "1F4E3 mega megaphone", "1F4E4 outbox_tray", "1F4E5 inbox_tray", "1F4E6 package",
  "1F4E7 e-mail e__mail", "1F4E8 incoming_envelope", "1F4E9 envelope_with_arrow",
  "1F4EA closed_mailbox_with_lowered_flag mailbox_closed",
  "1F4EB closed_mailbox_with_raised_flag mailbox",
  "1F4EC mailbox_with_mail open_mailbox_with_raised_flag",
  "1F4ED mailbox_with_no_mail open_mailbox_with_lowered_flag", "1F4EE postbox", "1F4EF postal_horn",
  "1F4F0 newspaper", "1F4F1 iphone mobile_phone", "1F4F2 calling mobile_phone_with_arrow",
  "1F4F3 vibration_mode", "1F4F4 mobile_phone_off", "1F4F5 no_mobile_phones",
  "1F4F6 antenna_bars signal_strength", "1F4F7 camera", "1F4F8 camera_with_flash",
  "1F4F9 video_camera", "1F4FA television tv", "1F4FB radio", "1F4FC vhs videocassette",
  "1F4FD film_projector", "1F4FF prayer_beads",
  "1F500 shuffle_tracks_button twisted_rightwards_arrows", "1F501 repeat repeat_button",
  "1F502 repeat_one repeat_single_button", "1F503 arrows_clockwise clockwise_vertical_arrows",
  "1F504 arrows_counterclockwise counterclockwise_arrows_button", "1F505 dim_button low_brightness",
  "1F506 bright_button high_brightness", "1F507 mute muted_speaker",
  "1F508 speaker speaker_low_volume", "1F509 sound speaker_medium_volume",
  "1F50A loud_sound speaker_high_volume", "1F50B battery", "1F50C electric_plug",
  "1F50D mag magnifying_glass_tilted_left", "1F50E mag_right magnifying_glass_tilted_right",
  "1F50F lock_with_ink_pen locked_with_pen", "1F510 closed_lock_with_key locked_with_key",
  "1F511 key", "1F512 lock locked", "1F513 unlock unlocked", "1F514 bell",
  "1F515 bell_with_slash no_bell", "1F516 bookmark", "1F517 link", "1F518 radio_button",
  "1F519 back back_arrow", "1F51A end end_arrow", "1F51B on on!_arrow", "1F51C soon soon_arrow",
  "1F51D top top_arrow", "1F51E no_one_under_eighteen underage", "1F51F keycap_10 ten",
  "1F520 capital_abcd input_latin_uppercase", "1F521 abcd input_latin_lowercase",
  "1F522 1234 input_numbers", "1F523 input_symbols symbols", "1F524 abc input_latin_letters",
  "1F525 fire", "1F526 flashlight", "1F527 wrench", "1F528 hammer", "1F529 nut_and_bolt",
  "1F52A hocho kitchen_knife knife", "1F52B gun pistol", "1F52C microscope", "1F52D telescope",
  "1F52E crystal_ball", "1F52F dotted_six-pointed_star six_pointed_star",
  "1F530 beginner japanese_symbol_for_beginner", "1F531 trident trident_emblem",
  "1F532 black_square_button", "1F533 white_square_button", "1F534 red_circle",
  "1F535 blue_circle large_blue_circle", "1F536 large_orange_diamond", "1F537 large_blue_diamond",
  "1F538 small_orange_diamond", "1F539 small_blue_diamond",
  "1F53A red_triangle_pointed_up small_red_triangle",
  "1F53B red_triangle_pointed_down small_red_triangle_down", "1F53C arrow_up_small upwards_button",
  "1F53D arrow_down_small downwards_button", "1F549 om om_symbol", "1F54A dove dove_of_peace",
  "1F54B kaaba", "1F54C mosque", "1F54D synagogue", "1F54E menorah menorah_with_nine_branches",
  "1F550 clock1 one_o’clock", "1F551 clock2 two_o’clock", "1F552 clock3 three_o’clock",
  "1F553 clock4 four_o’clock", "1F554 clock5 five_o’clock", "1F555 clock6 six_o’clock",
  "1F556 clock7 seven_o’clock", "1F557 clock8 eight_o’clock", "1F558 clock9 nine_o’clock",
  "1F559 clock10 ten_o’clock", "1F55A clock11 eleven_o’clock", "1F55B clock12 twelve_o’clock",
  "1F55C clock130 one-thirty", "1F55D clock230 two-thirty", "1F55E clock330 three-thirty",
  "1F55F clock430 four-thirty", "1F560 clock530 five-thirty", "1F561 clock630 six-thirty",
  "1F562 clock730 seven-thirty", "1F563 clock830 eight-thirty", "1F564 clock930 nine-thirty",
  "1F565 clock1030 ten-thirty", "1F566 clock1130 eleven-thirty", "1F567 clock1230 twelve-thirty",
  "1F56F candle", "1F570 mantelpiece_clock", "1F573 hole", "1F5A4 black_heart",
  "1F5A5 desktop_computer", "1F5A8 printer", "1F5B1 computer_mouse three_button_mouse",
  "1F5B2 trackball", "1F5BC frame_with_picture framed_picture", "1F5C2 card_index_dividers",
  "1F5C3 card_file_box", "1F5C4 file_cabinet", "1F5D1 wastebasket",
  "1F5D2 spiral_note_pad spiral_notepad", "1F5D3 spiral_calendar spiral_calendar_pad",
  "1F5DC clamp compression", "1F5DD old_key", "1F5DE rolled-up_newspaper rolled__up_newspaper",
  "1F5E1 dagger dagger_knife", "1F5E3 speaking_head speaking_head_in_silhouette",
  "1F5E8 left_speech_bubble", "1F5EF right_anger_bubble", "1F5F3 ballot_box_with_ballot",
  "1F5FA world_map", "1F5FB mount_fuji", "1F5FC tokyo_tower", "1F5FD statue_of_liberty",
  "1F5FE japan map_of_japan", "1F5FF moai moyai", "1F680 rocket", "1F681 helicopter",
  "1F682 locomotive steam_locomotive", "1F683 railway_car",
  "1F684 bullettrain_side high-speed_train", "1F685 bullet_train bullettrain_front", "1F686 train2",
  "1F687 metro", "1F688 light_rail", "1F689 station", "1F68A tram", "1F68B train tram_car",
  "1F68C bus", "1F68D oncoming_bus", "1F68E trolleybus", "1F68F bus_stop busstop", "1F690 minibus",
  "1F691 ambulance", "1F692 fire_engine", "1F693 police_car", "1F694 oncoming_police_car",
  "1F695 taxi", "1F696 oncoming_taxi", "1F697 automobile car red_car", "1F698 oncoming_automobile",
  "1F699 blue_car sport_utility_vehicle", "1F69A delivery_truck truck", "1F69B articulated_lorry",
  "1F69C tractor", "1F69D monorail", "1F69E mountain_railway", "1F69F suspension_railway",
  "1F6A0 mountain_cableway", "1F6A1 aerial_tramway", "1F6A2 ship",
  "1F6A3 person_rowing_boat rowboat", "1F6A4 speedboat",
  "1F6A5 horizontal_traffic_light traffic_light", "1F6A6 vertical_traffic_light",
  "1F6A7 construction", "1F6A8 police_car_light rotating_light",
  "1F6A9 triangular_flag triangular_flag_on_post", "1F6AA door", "1F6AB no_entry_sign prohibited",
  "1F6AC cigarette smoking", "1F6AD no_smoking", "1F6AE litter_in_bin_sign put_litter_in_its_place",
  "1F6AF do_not_litter no_littering", "1F6B0 potable_water",
  "1F6B1 non-potable_water non__potable_water", "1F6B2 bicycle bike", "1F6B3 no_bicycles",
  "1F6B4 bicyclist person_biking", "1F6B5 mountain_bicyclist person_mountain_biking",
  "1F6B6 person_walking walking", "1F6B7 no_pedestrians", "1F6B8 children_crossing",
  "1F6B9 mens men’s_room", "1F6BA womens women’s_room", "1F6BB restroom", "1F6BC baby_symbol",
  "1F6BD toilet", "1F6BE water_closet wc", "1F6BF shower", "1F6C0 bath person_taking_bath",
  "1F6C1 bathtub", "1F6C2 passport_control", "1F6C3 customs", "1F6C4 baggage_claim",
  "1F6C5 left_luggage", "1F6CB couch_and_lamp", "1F6CC person_in_bed sleeping_accommodation",
  "1F6CD shopping_bags", "1F6CE bellhop_bell", "1F6CF bed", "1F6D0 place_of_worship",
  "1F6D1 stop_sign", "1F6D2 shopping_cart", "1F6D5 hindu_temple", "1F6E0 hammer_and_wrench",
  "1F6E1 shield", "1F6E2 oil_drum", "1F6E3 motorway", "1F6E4 railway_track", "1F6E5 motor_boat",
  "1F6E9 small_airplane", "1F6EB airplane_departure", "1F6EC airplane_arrival airplane_arriving",
  "1F6F3 passenger_ship", "1F6F4 kick_scooter", "1F6F5 motor_scooter", "1F6F6 canoe", "1F6F7 sled",
  "1F6F8 flying_saucer", "1F6F9 skateboard", "1F6FA auto_rickshaw", "1F7E0 orange_circle",
  "1F7E1 yellow_circle", "1F7E2 green_circle", "1F7E3 purple_circle", "1F7E4 brown_circle",
  "1F7E5 red_square", "1F7E6 blue_square", "1F7E7 orange_square", "1F7E8 yellow_square",
  "1F7E9 green_square", "1F7EA purple_square", "1F7EB brown_square"]

end SwitchTrace.Pictograph
