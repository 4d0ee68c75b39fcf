/-!
# Names of pictures: beings

## Main definitions

* `Pictograph.beings` — people, faces, animals and newer pictures, with their names.
-/

namespace SwitchTrace.Pictograph

/-- One picture for each text: the numbers of its characters in hexadecimal, and its names. -/
def beings : List String :=
  ["1F400 rat", "1F401 mouse2", "1F402 ox", "1F403 water_buffalo", "1F404 cow2", "1F405 tiger2",
  "1F406 leopard", "1F407 rabbit2", "1F408 cat2", "1F409 dragon", "1F40A crocodile", "1F40B whale2",
  "1F40C snail", "1F40D snake", "1F40E racehorse", "1F40F ram", "1F410 goat", "1F411 ewe sheep",
  "1F412 monkey", "1F413 rooster", "1F414 chicken", "1F415 dog2", "1F416 pig2", "1F417 boar",
  "1F418 elephant", "1F419 octopus", "1F41A shell spiral_shell", "1F41B bug", "1F41C ant",
  "1F41D bee honeybee", "1F41E beetle lady_beetle", "1F41F fish", "1F420 tropical_fish",
  "1F421 blowfish", "1F422 turtle", "1F423 hatching_chick", "1F424 baby_chick",
  "1F425 front-facing_baby_chick hatched_chick", "1F426 bird", "1F427 penguin", "1F428 koala",
  "1F429 poodle", "1F42A dromedary_camel", "1F42B camel two-hump_camel", "1F42C dolphin flipper",
  "1F42D mouse mouse_face", "1F42E cow cow_face", "1F42F tiger tiger_face",
  "1F430 rabbit rabbit_face", "1F431 cat cat_face", "1F432 dragon_face",
  "1F433 spouting_whale whale", "1F434 horse horse_face", "1F435 monkey_face", "1F436 dog dog_face",
  "1F437 pig pig_face", "1F438 frog frog_face", "1F439 hamster hamster_face",
  "1F43A wolf wolf_face", "1F43B bear bear_face", "1F43C panda_face", "1F43D pig_nose",
  "1F43E feet paw_prints", "1F43F chipmunk", "1F440 eyes", "1F441 eye", "1F442 ear", "1F443 nose",
  "1F444 lips mouth", "1F445 tongue", "1F446 backhand_index_pointing_up point_up_2",
  "1F447 backhand_index_pointing_down point_down", "1F448 backhand_index_pointing_left point_left",
  "1F449 backhand_index_pointing_right point_right", "1F44A facepunch oncoming_fist punch",
  "1F44B wave waving_hand", "1F44C ok_hand", "1F44D +1 thumbs_up thumbsup",
  "1F44E -1 __1 thumbs_down thumbsdown", "1F44F clap clapping_hands", "1F450 open_hands",
  "1F451 crown", "1F452 womans_hat woman’s_hat", "1F453 eyeglasses glasses", "1F454 necktie",
  "1F455 shirt t-shirt tshirt", "1F456 jeans", "1F457 dress", "1F458 kimono", "1F459 bikini",
  "1F45A womans_clothes woman’s_clothes", "1F45B purse", "1F45C handbag", "1F45D clutch_bag pouch",
  "1F45E mans_shoe man’s_shoe shoe", "1F45F athletic_shoe running_shoe",
  "1F460 high-heeled_shoe high_heel", "1F461 sandal woman’s_sandal", "1F462 boot woman’s_boot",
  "1F463 footprints", "1F464 bust_in_silhouette", "1F465 busts_in_silhouette", "1F466 boy",
  "1F467 girl", "1F468 man", "1F469 woman", "1F46A family",
  "1F46B couple man_and_woman_holding_hands", "1F46C two_men_holding_hands",
  "1F46D two_women_holding_hands", "1F46E cop police_officer",
  "1F46F dancers people_with_bunny_ears", "1F470 bride_with_veil",
  "1F471 blond-haired_person person_with_blond_hair",
  "1F472 man_with_chinese_cap man_with_gua_pi_mao", "1F473 man_with_turban person_wearing_turban",
  "1F474 old_man older_man", "1F475 old_woman older_woman", "1F476 baby",
  "1F477 construction_worker", "1F478 princess", "1F479 japanese_ogre ogre",
  "1F47A goblin japanese_goblin", "1F47B ghost", "1F47C angel baby_angel", "1F47D alien",
  "1F47E alien_monster space_invader", "1F47F angry_face_with_horns imp", "1F480 skull",
  "1F481 information_desk_person person_tipping_hand", "1F482 guard guardsman",
  "1F483 dancer woman_dancing", "1F484 lipstick", "1F485 nail_care nail_polish",
  "1F486 massage person_getting_massage", "1F487 haircut person_getting_haircut",
  "1F488 barber barber_pole", "1F489 syringe", "1F48A pill", "1F48B kiss kiss_mark",
  "1F48C love_letter", "1F48D ring", "1F48E gem gem_stone", "1F48F couplekiss", "1F490 bouquet",
  "1F491 couple_with_heart", "1F492 wedding", "1F493 beating_heart heartbeat", "1F494 broken_heart",
  "1F495 two_hearts", "1F496 sparkling_heart", "1F497 growing_heart heartpulse",
  "1F498 cupid heart_with_arrow", "1F499 blue_heart", "1F49A green_heart", "1F49B yellow_heart",
  "1F49C purple_heart", "1F49D gift_heart heart_with_ribbon", "1F49E revolving_hearts",
  "1F49F heart_decoration", "1F574 man_in_business_suit_levitating man_in_suit_levitating",
  "1F575 detective sleuth_or_spy", "1F576 dark_sunglasses", "1F577 spider", "1F578 spider_web",
  "1F579 joystick", "1F57A man_dancing", "1F587 linked_paperclips",
  "1F58A lower_left_ballpoint_pen pen", "1F58B fountain_pen lower_left_fountain_pen",
  "1F58C lower_left_paintbrush paintbrush", "1F58D crayon lower_left_crayon",
  "1F590 hand_with_fingers_splayed raised_hand_with_fingers_splayed",
  "1F595 middle_finger reversed_hand_with_middle_finger_extended",
  "1F596 raised_hand_with_part_between_middle_and_ring_fingers vulcan_salute",
  "1F600 grinning grinning_face", "1F601 beaming_face_with_smiling_eyes grin",
  "1F602 face_with_tears_of_joy joy", "1F603 grinning_face_with_big_eyes smiley",
  "1F604 grinning_face_with_smiling_eyes smile", "1F605 grinning_face_with_sweat sweat_smile",
  "1F606 grinning_squinting_face laughing satisfied", "1F607 innocent smiling_face_with_halo",
  "1F608 smiling_face_with_horns smiling_imp", "1F609 wink winking_face",
  "1F60A blush smiling_face_with_smiling_eyes", "1F60B face_savoring_food yum",
  "1F60C relieved relieved_face", "1F60D heart_eyes smiling_face_with_heart-eyes",
  "1F60E smiling_face_with_sunglasses sunglasses", "1F60F smirk smirking_face",
  "1F610 neutral_face", "1F611 expressionless expressionless_face", "1F612 unamused unamused_face",
  "1F613 downcast_face_with_sweat sweat", "1F614 pensive pensive_face",
  "1F615 confused confused_face", "1F616 confounded confounded_face", "1F617 kissing kissing_face",
  "1F618 face_blowing_a_kiss kissing_heart",
  "1F619 kissing_face_with_smiling_eyes kissing_smiling_eyes",
  "1F61A kissing_closed_eyes kissing_face_with_closed_eyes",
  "1F61B face_with_tongue stuck_out_tongue",
  "1F61C stuck_out_tongue_winking_eye winking_face_with_tongue",
  "1F61D squinting_face_with_tongue stuck_out_tongue_closed_eyes",
  "1F61E disappointed disappointed_face", "1F61F worried worried_face", "1F620 angry angry_face",
  "1F621 pouting_face rage", "1F622 cry crying_face", "1F623 persevere persevering_face",
  "1F624 face_with_steam_from_nose triumph", "1F625 disappointed_relieved sad_but_relieved_face",
  "1F626 frowning frowning_face_with_open_mouth", "1F627 anguished anguished_face",
  "1F628 fearful fearful_face", "1F629 weary weary_face", "1F62A sleepy sleepy_face",
  "1F62B tired_face", "1F62C grimacing grimacing_face", "1F62D loudly_crying_face sob",
  "1F62E face_with_open_mouth open_mouth", "1F62F hushed hushed_face",
  "1F630 anxious_face_with_sweat cold_sweat", "1F631 face_screaming_in_fear scream",
  "1F632 astonished astonished_face", "1F633 flushed flushed_face", "1F634 sleeping sleeping_face",
  "1F635 dizzy_face", "1F636 face_without_mouth no_mouth", "1F637 face_with_medical_mask mask",
  "1F638 grinning_cat_face_with_smiling_eyes smile_cat", "1F639 cat_face_with_tears_of_joy joy_cat",
  "1F63A grinning_cat_face smiley_cat", "1F63B heart_eyes_cat smiling_cat_face_with_heart-eyes",
  "1F63C cat_face_with_wry_smile smirk_cat", "1F63D kissing_cat kissing_cat_face",
  "1F63E pouting_cat pouting_cat_face", "1F63F crying_cat_face", "1F640 scream_cat weary_cat_face",
  "1F641 slightly_frowning_face", "1F642 slightly_smiling_face",
  "1F643 upside-down_face upside__down_face", "1F644 face_with_rolling_eyes",
  "1F645 no_good person_gesturing_no", "1F646 ok_woman person_gesturing_ok",
  "1F647 bow person_bowing", "1F648 see-no-evil_monkey see_no_evil",
  "1F649 hear-no-evil_monkey hear_no_evil", "1F64A speak-no-evil_monkey speak_no_evil",
  "1F64B person_raising_hand raising_hand", "1F64C raised_hands raising_hands",
  "1F64D person_frowning", "1F64E person_pouting person_with_pouting_face",
  "1F64F folded_hands pray", "1F90D white_heart", "1F90E brown_heart", "1F90F pinching_hand",
  "1F910 zipper-mouth_face zipper__mouth_face", "1F911 money-mouth_face money__mouth_face",
  "1F912 face_with_thermometer", "1F913 nerd_face", "1F914 thinking_face",
  "1F915 face_with_head-bandage face_with_head__bandage", "1F916 robot robot_face",
  "1F917 hugging_face", "1F918 sign_of_the_horns", "1F919 call_me_hand",
  "1F91A raised_back_of_hand", "1F91B left-facing_fist", "1F91C right-facing_fist",
  "1F91D handshake", "1F91E crossed_fingers", "1F91F love-you_gesture", "1F920 cowboy_hat_face",
  "1F921 clown_face", "1F922 nauseated_face", "1F923 rolling_on_the_floor_laughing",
  "1F924 drooling_face", "1F925 lying_face", "1F926 person_facepalming", "1F927 sneezing_face",
  "1F928 face_with_raised_eyebrow", "1F929 star-struck", "1F92A zany_face", "1F92B shushing_face",
  "1F92C face_with_symbols_on_mouth", "1F92D face_with_hand_over_mouth", "1F92E face_vomiting",
  "1F92F exploding_head", "1F930 pregnant_woman", "1F931 breast-feeding", "1F932 palms_up_together",
  "1F933 selfie", "1F934 prince", "1F935 man_in_tuxedo", "1F936 mrs._claus",
  "1F937 person_shrugging", "1F938 person_cartwheeling", "1F939 person_juggling",
  "1F93A person_fencing", "1F93C people_wrestling", "1F93D person_playing_water_polo",
  "1F93E person_playing_handball", "1F93F diving_mask", "1F940 wilted_flower", "1F941 drum",
  "1F942 clinking_glasses", "1F943 tumbler_glass", "1F944 spoon", "1F945 goal_net",
  "1F947 1st_place_medal", "1F948 2nd_place_medal", "1F949 3rd_place_medal", "1F94A boxing_glove",
  "1F94B martial_arts_uniform", "1F94C curling_stone", "1F94D lacrosse", "1F94E softball",
  "1F94F flying_disc", "1F950 croissant", "1F951 avocado", "1F952 cucumber", "1F953 bacon",
  "1F954 potato", "1F955 carrot", "1F956 baguette_bread", "1F957 green_salad",
  "1F958 shallow_pan_of_food", "1F959 stuffed_flatbread", "1F95B glass_of_milk", "1F95C peanuts",
  "1F95D kiwi_fruit", "1F95E pancakes", "1F95F dumpling", "1F960 fortune_cookie",
  "1F961 takeout_box", "1F962 chopsticks", "1F963 bowl_with_spoon", "1F964 cup_with_straw",
  "1F965 coconut", "1F966 broccoli", "1F967 pie", "1F968 pretzel", "1F969 cut_of_meat",
  "1F96A sandwich", "1F96B canned_food", "1F96C leafy_green", "1F96D mango", "1F96E moon_cake",
  "1F96F bagel", "1F970 smiling_face_with_3_hearts", "1F971 yawning_face", "1F973 partying_face",
  "1F974 woozy_face", "1F975 hot_face", "1F976 cold_face", "1F97A pleading_face", "1F97B sari",
  "1F97C lab_coat", "1F97D goggles", "1F97E hiking_boot", "1F97F flat_shoe", "1F980 crab",
  "1F981 lion_face", "1F982 scorpion", "1F983 turkey", "1F984 unicorn_face", "1F985 eagle",
  "1F986 duck", "1F987 bat", "1F988 shark", "1F989 owl", "1F98A fox_face", "1F98B butterfly",
  "1F98C deer", "1F98D gorilla", "1F98E lizard", "1F98F rhinoceros", "1F990 shrimp", "1F991 squid",
  "1F992 giraffe", "1F993 zebra", "1F994 hedgehog", "1F995 sauropod", "1F996 t-rex",
  "1F997 cricket", "1F998 kangaroo", "1F999 llama", "1F99A peacock", "1F99B hippopotamus",
  "1F99C parrot", "1F99D raccoon", "1F99E lobster", "1F99F mosquito", "1F9A0 microbe",
  "1F9A1 badger", "1F9A2 swan", "1F9A5 sloth", "1F9A6 otter", "1F9A7 orangutan", "1F9A8 skunk",
  "1F9A9 flamingo", "1F9AA oyster", "1F9AE guide_dog", "1F9AF probing_cane", "1F9B0 red_hair",
  "1F9B1 curly_hair", "1F9B2 bald", "1F9B3 white_hair", "1F9B4 bone", "1F9B5 leg", "1F9B6 foot",
  "1F9B7 tooth", "1F9B8 superhero", "1F9B9 supervillain", "1F9BA safety_vest",
  "1F9BB ear_with_hearing_aid", "1F9BC motorized_wheelchair", "1F9BD manual_wheelchair",
  "1F9BE mechanical_arm", "1F9BF mechanical_leg", "1F9C0 cheese_wedge", "1F9C1 cupcake",
  "1F9C2 salt", "1F9C3 beverage_box", "1F9C4 garlic", "1F9C5 onion", "1F9C6 falafel",
  "1F9C7 waffle", "1F9C8 butter", "1F9C9 mate", "1F9CA ice", "1F9CD person_standing",
  "1F9CE person_kneeling", "1F9CF deaf_person", "1F9D0 face_with_monocle", "1F9D1 adult",
  "1F9D2 child", "1F9D3 older_adult", "1F9D4 bearded_person", "1F9D5 woman_with_headscarf",
  "1F9D6 person_in_steamy_room", "1F9D7 person_climbing", "1F9D8 person_in_lotus_position",
  "1F9D9 mage", "1F9DA fairy", "1F9DB vampire", "1F9DC merperson", "1F9DD elf", "1F9DE genie",
  "1F9DF zombie", "1F9E0 brain", "1F9E1 orange_heart", "1F9E2 billed_cap", "1F9E3 scarf",
  "1F9E4 gloves", "1F9E5 coat", "1F9E6 socks", "1F9E7 red_envelope", "1F9E8 firecracker",
  "1F9E9 jigsaw", "1F9EA test_tube", "1F9EB petri_dish", "1F9EC dna", "1F9ED compass",
  "1F9EE abacus", "1F9EF fire_extinguisher", "1F9F0 toolbox", "1F9F1 brick", "1F9F2 magnet",
  "1F9F3 luggage", "1F9F4 lotion_bottle", "1F9F5 thread", "1F9F6 yarn", "1F9F7 safety_pin",
  "1F9F8 teddy_bear", "1F9F9 broom", "1F9FA basket", "1F9FB roll_of_paper", "1F9FC soap",
  "1F9FD sponge", "1F9FE receipt", "1F9FF nazar_amulet", "1FA70 ballet_shoes",
  "1FA71 one-piece_swimsuit", "1FA72 briefs", "1FA73 shorts", "1FA78 drop_of_blood",
  "1FA79 adhesive_bandage", "1FA7A stethoscope", "1FA80 yo-yo", "1FA81 kite", "1FA90 ringed_planet",
  "1FA91 chair", "1FA92 razor", "1FA93 axe", "1FA94 diya_lamp", "1FA95 banjo"]

end SwitchTrace.Pictograph
